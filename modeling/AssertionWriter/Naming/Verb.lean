/-
  AssertionWriter.Naming.Verb

  The words that the names of yes-or-no members start with (`isRookie`, `doesNotHavePower`):
  the table of these words with their opposites and their readings in prose, and how a
  name divides into such a word and what it says.
-/
import AssertionWriter.Text.Basic
import AssertionWriter.Text.Uppercase

namespace AssertionWriter.Naming
open Text

/-- A word that predicates start with. -/
structure Verb where
  /-- The word as it stands in a name (`doesNotHave`). -/
  word : String
  /-- The word that states the contrary (`has`). -/
  opposite : String
  /-- The reading in documentation (`does not have`). -/
  prose : String
  /-- The reading in failure messages, behind "expecting actual" (`not to have`). -/
  demand : String
  deriving DecidableEq, Repr

namespace Verb

/-- Every verb. A word stands before those it extends, so that `cannotBe` is found before
    `cannot`, and `cannot` before `can`. -/
def all : List Verb := [
  ⟨"doesNotHave", "has", "does not have", "not to have"⟩,
  ⟨"shouldNotBe", "shouldBe", "should not be", "not to be"⟩,
  ⟨"cannotBe", "canBe", "cannot be", "not to be able to be"⟩,
  ⟨"willNotBe", "willBe", "will not be", "not to be"⟩,
  ⟨"shouldBe", "shouldNotBe", "should be", "to be"⟩,
  ⟨"shouldNot", "should", "should not", "not to"⟩,
  ⟨"willNot", "will", "will not", "not to"⟩,
  ⟨"wasNot", "was", "was not", "not to have been"⟩,
  ⟨"willBe", "willNotBe", "will be", "to be"⟩,
  ⟨"cannot", "can", "cannot", "not to be able to"⟩,
  ⟨"should", "shouldNot", "should", "to"⟩,
  ⟨"canBe", "cannotBe", "can be", "to be able to be"⟩,
  ⟨"isNot", "is", "is not", "not to be"⟩,
  ⟨"will", "willNot", "will", "to"⟩,
  ⟨"has", "doesNotHave", "has", "to have"⟩,
  ⟨"was", "wasNot", "was", "to have been"⟩,
  ⟨"can", "cannot", "can", "to be able to"⟩,
  ⟨"is", "isNot", "is", "to be"⟩]

/-- The words, none of them negated, that a boolean member may start with. -/
def positiveWords : List String :=
  ["is", "has", "was", "can", "canBe", "should", "shouldBe", "will", "willBe"]

end Verb

/-- What `name` says behind `word`, if `name` is `word` with an upper-case character behind it. -/
def behind? (word : String) (name : List Char) : Option (List Char) :=
  match after? word.toList name with
  | some (c :: cs) => if isUppercase c then some (c :: cs) else none
  | _ => none

theorem behind?_eq_some_iff {word : String} {name rest : List Char} :
    behind? word name = some rest ↔
      name = word.toList ++ rest ∧ rest.head?.any isUppercase = true := by
  unfold behind?
  cases h : after? word.toList name with
  | none =>
    simp only [reduceCtorEq, false_iff, not_and]
    intro h'
    rw [after?_eq_some_iff.2 h'] at h
    simp at h
  | some r =>
    have hr := after?_eq_some_iff.1 h
    cases r with
    | nil =>
      -- The name is the word alone.
      simp only [reduceCtorEq, false_iff, not_and]
      intro h' hrest
      rw [hr, List.append_cancel_left_eq] at h'
      simp [← h'] at hrest
    | cons c cs =>
      simp only [Option.ite_none_right_eq_some, Option.some.injEq]
      constructor
      · rintro ⟨hc, rfl⟩
        exact ⟨hr, by simpa using hc⟩
      · rintro ⟨h', hrest⟩
        rw [hr, List.append_cancel_left_eq] at h'
        subst h'
        exact ⟨by simpa using hrest, rfl⟩

/-- Divides a predicate name into its verb and what it says; `none` for any other name. -/
def predicate? (name : List Char) : Option (Verb × List Char) :=
  Verb.all.findSome? fun v => (behind? v.word name).map (v, ·)

/-- Whether `name` starts with a verb. -/
def isPredicate (name : String) : Bool := (predicate? name.toList).isSome

end AssertionWriter.Naming
